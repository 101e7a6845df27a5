import Std.Data.ExtTreeMap
import Std.Data.ExtTreeSet
import Publishing.NodeId
import Publishing.Uuid

/-!
# Users, groups and permissions

A permission is an opaque verb such as `browse`.  A group grants a set of them
everywhere, and other sets on single nodes; a node's set holds for everything
below the node as well, in place of what holds above.

Groups and users have start nodes, where their part of the tree begins.
-/

namespace Publishing.Access

/-- A set of permissions. -/
abbrev PermissionSet := Std.ExtTreeSet String

/-- The permissions held on one node. -/
structure NodePermissions where
  node : NodeId
  held : PermissionSet := ∅
deriving DecidableEq

namespace NodePermissions

/-- Whether a permission is held. -/
def contains (p : NodePermissions) (permission : String) : Bool :=
  p.held.contains permission

/-- Whether all of some permissions are held. -/
def containsAll (p : NodePermissions) (required : List String) : Bool :=
  required.all p.contains

/-- The permissions together with some more. -/
def extend (p : NodePermissions) (more : List String) : NodePermissions :=
  { p with held := p.held.insertMany more }

/-- Whether nothing is held. -/
def isEmpty (p : NodePermissions) : Bool :=
  p.held.isEmpty

end NodePermissions

/-- A group of users with a start node and permissions in common. -/
structure Group where
  name : String
  start : Option NodeId := none
  /-- Granted wherever the path has no node with a set of its own. -/
  defaults : PermissionSet := ∅
  /-- The sets of single nodes. -/
  granular : Std.ExtTreeMap NodeId PermissionSet := ∅
deriving DecidableEq

namespace Group

/-- The group with a set of its own for one node. -/
def withGranular (g : Group) (node : NodeId) (permissions : PermissionSet) : Group :=
  { g with granular := g.granular.insert node permissions }

/-- What the group grants at the end of a path, root first: the set of the deepest
node that has one, or else the defaults. -/
def along (g : Group) (path : List NodeId) : PermissionSet :=
  (path.reverse.findSome? fun id => g.granular[id]?).getD g.defaults

end Group

/-- A user of the back office. -/
structure User where
  id : Uuid
  name : String
  /-- The start nodes of the user's own. -/
  starts : List NodeId := []
  groups : List Group := []
deriving DecidableEq

namespace User

/-- The start nodes of the user and of the user's groups. -/
def allStarts (u : User) : Std.ExtTreeSet NodeId :=
  Std.ExtTreeSet.ofList (u.starts ++ u.groups.filterMap Group.start)

end User

end Publishing.Access
