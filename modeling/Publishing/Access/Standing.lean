import Publishing.Path

/-!
# Access from the text of a path

The text of a path names all ancestors of a node, so whether a node lies below a
start node is seen from the text alone, without walking the tree.

* `mayEnter` decides access to a node.
* `standing` also tells the ancestors of start nodes, which may be shown for
  navigation, from nodes that have nothing to do with a start node.
-/

namespace Publishing.Access

/-- What keeps a path from being judged. -/
inductive AccessError where
  /-- The path is blank. -/
  | emptyPath
  | invalidPath (cause : InvalidPath)
deriving DecidableEq

/-- The report on a path that cannot be judged. -/
def AccessError.message : AccessError → String
  | .emptyPath => "path cannot be empty or whitespace"
  | .invalidPath cause => cause.message

/-- Where a node stands relative to start nodes. -/
inductive Standing where
  /-- Neither above nor below a start node. -/
  | outside
  /-- Above a start node: shown for navigation, not accessible. -/
  | navigable
  /-- A start node, below one, or anywhere under root access. -/
  | accessible
deriving DecidableEq

namespace Standing

/-- Whether the node is in the branch of a start node. -/
def isInBranch : Standing → Bool
  | .outside => false
  | .navigable | .accessible => true

/-- Whether the node may be entered. -/
def isAccessible : Standing → Bool
  | .outside | .navigable => false
  | .accessible => true

/-- The degree of access: none, for navigation, full. -/
def rank : Standing → Nat
  | .outside => 0
  | .navigable => 1
  | .accessible => 2

end Standing

/-- Start nodes: their ids, and their paths in the same order. -/
structure StartNodes where
  ids : List NodeId := []
  paths : List String := []
deriving DecidableEq

/-- Whether the node at a path may be entered from the given start nodes.  Root
access opens everything, and it alone opens the recycle bin. -/
def mayEnter (path : String) (starts : List NodeId) (root bin : NodeId) :
    Except AccessError Bool :=
  if Text.isBlank path then .error .emptyPath
  else if starts.isEmpty then .ok false
  else if starts.contains root then .ok true
  else if Text.holdsSegment path bin.text then .ok false
  else .ok (starts.any fun id => Text.holdsSegment path id.text)

/-- Where the node at a path stands.  Whole segments are compared, so `-1,5` is not
taken to be above `-1,50`. -/
def standing (path : String) (starts : StartNodes) (root : NodeId) :
    Except AccessError Standing :=
  if Text.isBlank path then .error .emptyPath
  else if starts.ids.isEmpty then .ok .outside
  else if starts.ids.contains root then .ok .accessible
  else if starts.paths.any (· == path) then .ok .accessible
  else if starts.paths.any fun start => Text.leads path start then .ok .navigable
  else if starts.paths.any fun start => Text.leads start path then .ok .accessible
  else .ok .outside

end Publishing.Access
