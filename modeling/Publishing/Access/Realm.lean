import Publishing.Access.Entity
import Publishing.Access.Standing
import Publishing.Access.User
import Publishing.Settings

/-!
# Access of users to content

A realm is what access is decided over: a way to look entities up by id, and the
ids of the system nodes.  Nothing is remembered between two questions; the start
nodes of a user are worked out anew for each.

* `Realm.startNodes`: the topmost start nodes of a user that are known.
* `Realm.permissionsAt`: what a user's groups grant along a path, together.
* `Realm.check`: whether a user may act on a node.
-/

namespace Publishing.Access

/-- What access is decided over. -/
structure Realm where
  entity? : NodeId → Option Entity
  reserved : ReservedIds := {}

/-- What access is decided over when entities are looked up in a store. -/
def EntityStore.realm (s : EntityStore) (reserved : ReservedIds) : Realm where
  entity? := s.find?
  reserved := reserved

/-- The outcome of an access check. -/
inductive Verdict where
  | granted
  | denied
  | notFound
deriving DecidableEq

/-- The outcome of an access check, with the entity checked unless it is a system
node or unknown. -/
structure Check where
  verdict : Verdict
  entity : Option Entity := none
deriving DecidableEq

/-- Whether access was granted. -/
def Check.isGranted (c : Check) : Bool := decide (c.verdict = .granted)

/-- Whether the path of an entity holds no other of some entities. -/
def isTopmost (among : List Entity) (e : Entity) : Bool :=
  !among.any fun other => other.id != e.id && e.path.containsId other.id

/-- The start nodes of a user.  Root access leaves the root alone; otherwise the
known ones remain that lie below no other. -/
def startNodes (entity? : NodeId → Option Entity) (user : User) (root : NodeId) : StartNodes :=
  if user.allStarts.contains root then ⟨[root], [root.text]⟩
  else
    let known := user.allStarts.toList.filterMap entity?
    let topmost := known.filter (isTopmost known)
    ⟨topmost.map Entity.id, topmost.map fun e => e.path.text⟩

namespace Realm

/-- The start nodes of a user in the realm. -/
def startNodes (r : Realm) (user : User) : StartNodes :=
  Access.startNodes r.entity? user r.reserved.root

/-- Whether a user has access to the root, and so to everything. -/
def hasRootAccess (r : Realm) (user : User) : Bool :=
  (r.startNodes user).ids.contains r.reserved.root

/-- Whether a user may enter the node at a path. -/
def mayEnter (r : Realm) (user : User) (path : String) : Except AccessError Bool :=
  Access.mayEnter path (r.startNodes user).ids r.reserved.root r.reserved.contentBin

/-- Whether a user has access to the recycle bin of content. -/
def hasBinAccess (r : Realm) (user : User) : Bool :=
  match r.mayEnter user r.reserved.contentBin.text with
  | .ok allowed => allowed
  | .error _ => false

/-- Where the node at a path stands for a user. -/
def standing (r : Realm) (user : User) (path : String) : Except AccessError Standing :=
  Access.standing path (r.startNodes user) r.reserved.root

end Realm

/-- What the groups of a user grant at the end of a path, root first. -/
def grantedAlong (user : User) (path : List NodeId) : PermissionSet :=
  user.groups.foldl (fun held g => held ∪ g.along path) ∅

/-- What a user holds on the node at a path. -/
def permissionsAt (user : User) (path : String) : Except AccessError NodePermissions :=
  if Text.isBlank path then .error .emptyPath
  else match Path.parse path with
    | .error cause => .error (.invalidPath cause)
    | .ok p => .ok ⟨p.id, grantedAlong user p.ids⟩

namespace Realm

/-- Judges a node by whether it may be entered and by what is held at its path. -/
def judge (user : User) (path : String) (required : List String) (entity : Option Entity)
    (mayEnter : Bool) : Except AccessError Check :=
  if mayEnter = false then .ok ⟨.denied, entity⟩
  else if required.isEmpty then .ok ⟨.granted, entity⟩
  else (permissionsAt user path).map fun held =>
    ⟨if held.containsAll required then .granted else .denied, entity⟩

/-- Whether a user may act on a node with all of the required permissions.  The
root and the recycle bin are no entities: their id is their path. -/
def check (r : Realm) (node : NodeId) (user : User) (required : List String) :
    Except AccessError Check :=
  if node = r.reserved.root then
    judge user node.text required none (r.hasRootAccess user)
  else if node = r.reserved.contentBin then
    judge user node.text required none (r.hasBinAccess user)
  else match r.entity? node with
    | none => .ok ⟨.notFound, none⟩
    | some e => (r.mayEnter user e.path.text).bind (judge user e.path.text required (some e))

end Realm

end Publishing.Access
