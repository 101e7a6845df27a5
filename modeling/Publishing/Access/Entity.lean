import Std.Data.ExtTreeMap
import Publishing.Path
import Publishing.Uuid

/-!
# Entities of the tree

An entity is a node without its content: its name and its place in the tree.
`EntityStore` holds entities whose paths follow from their parents.  The root
and the recycle bin of content are parents without being stored.
`EntityStore.grown` is the store that requests to insert leave behind.
-/

namespace Publishing.Access

/-- A node without its content. -/
structure Entity where
  id : NodeId
  key : Uuid
  name : String
  parent : NodeId
  path : Path
deriving DecidableEq

/-- A request to store an entity under a parent. -/
structure Insertion where
  parent : NodeId
  id : NodeId
  key : Uuid
  name : String

/-- Stored entities by id. -/
@[ext] structure EntityStore where
  byId : Std.ExtTreeMap NodeId Entity
  keyed : ∀ id (e : Entity), byId[id]? = some e → id = e.id
deriving DecidableEq

namespace EntityStore

/-- No entity. -/
def empty : EntityStore := ⟨∅, by simp⟩

/-- The entity stored under an id. -/
def find? (s : EntityStore) (id : NodeId) : Option Entity := s.byId[id]?

/-- The number of entities. -/
def size (s : EntityStore) : Nat := s.byId.size

/-- Whether there is no entity. -/
def isEmpty (s : EntityStore) : Bool := s.byId.isEmpty

/-- Stores an entity under its own id. -/
def put (s : EntityStore) (e : Entity) : EntityStore where
  byId := s.byId.insert e.id e
  keyed id e' h := by
    rw [Std.ExtTreeMap.getElem?_insert] at h
    split at h
    · next heq =>
      obtain rfl := Option.some.inj h
      exact (Std.LawfulEqOrd.eq_of_compare heq).symm
    · exact s.keyed id e' h

/-- The path of a node under which entities can be stored. -/
def parentPath? (s : EntityStore) (parent : NodeId) : Option Path :=
  if parent = NodeId.root then some Path.root
  else if parent = NodeId.contentBin then some (Path.root.child NodeId.contentBin)
  else (s.find? parent).map Entity.path

/-- Stores an entity under a parent.  Nothing happens if the parent is unknown. -/
def insert? (s : EntityStore) (parent id : NodeId) (key : Uuid) (name : String) :
    Option (Entity × EntityStore) :=
  (s.parentPath? parent).map fun path =>
    let e : Entity := ⟨id, key, name, parent, path.child id⟩
    (e, s.put e)

/-- The store after an insertion. -/
def apply (s : EntityStore) (i : Insertion) : EntityStore :=
  match s.insert? i.parent i.id i.key i.name with
  | some (_, larger) => larger
  | none => s

/-- The store that insertions leave behind, starting from nothing. -/
def grown (history : List Insertion) : EntityStore :=
  history.foldl apply empty

end EntityStore

end Publishing.Access
