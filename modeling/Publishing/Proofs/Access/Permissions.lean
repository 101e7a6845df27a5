import Publishing.Access.Realm
import Publishing.Proofs.Access.Standing

/-!
# What groups grant along a path

`Group.along` searches a path from its end for a node with a set of its own.  One
step down the path, a node with a set of its own replaces what held above it, and
any other node takes that over (`Group.along_append`).  What a user holds is what
some group grants (`mem_grantedAlong`).

Any path can be asked about, and `Realm.check_of_entity` puts the whole check of
an entity in one equation: whoever may enter its path and holds what is required
along it is let in.
-/

namespace Publishing.Access

theorem Group.along_append (g : Group) (path : List NodeId) (id : NodeId) :
    g.along (path ++ [id]) = (g.granular[id]?).getD (g.along path) := by
  cases hown : g.granular[id]? <;> simp [Group.along, hown]

/-- Some group of the user grants a permission at the end of a path, root first. -/
def User.Holds (u : User) (path : List NodeId) (permission : String) : Prop :=
  ∃ g ∈ u.groups, permission ∈ g.along path

instance (u : User) (path : List NodeId) (permission : String) :
    Decidable (u.Holds path permission) :=
  inferInstanceAs (Decidable (∃ g ∈ u.groups, permission ∈ g.along path))

theorem mem_grantedAlong {u : User} {path : List NodeId} {permission : String} :
    permission ∈ grantedAlong u path ↔ u.Holds path permission := by
  suffices hfold : ∀ (groups : List Group) (held : PermissionSet),
      permission ∈ groups.foldl (fun held g => held ∪ g.along path) held ↔
        permission ∈ held ∨ ∃ g ∈ groups, permission ∈ g.along path by
    simpa [grantedAlong, User.Holds] using hfold u.groups ∅
  intro groups
  induction groups with
  | nil => simp
  | cons g rest ih =>
      intro held
      rw [List.foldl_cons, ih, Std.ExtTreeSet.mem_union_iff, or_assoc]
      simp

theorem permissionsAt_text (u : User) (p : Path) :
    permissionsAt u p.text = .ok ⟨p.id, grantedAlong u p.ids⟩ := by
  unfold permissionsAt
  rw [if_neg (by simp [p.isBlank_text]), p.parse_text]

theorem NodePermissions.containsAll_iff {held : NodePermissions} {required : List String} :
    held.containsAll required = true ↔ ∀ permission ∈ required, permission ∈ held.held := by
  simp [containsAll, contains]

namespace Realm

/-- A node is judged by entry and by the permissions along its path; asking for none
is no case of its own. -/
theorem judge_eq (u : User) (p : Path) (required : List String) (entity : Option Entity)
    (enters : Bool) :
    judge u p.text required entity enters =
      .ok ⟨if enters = true ∧ ∀ permission ∈ required, u.Holds p.ids permission then .granted
        else .denied, entity⟩ := by
  unfold judge
  split
  · next hdenied => simp [hdenied]
  split
  · next hnone => simp_all
  · rw [permissionsAt_text]
    simp_all [Except.map, NodePermissions.containsAll_iff, mem_grantedAlong]

variable {r : Realm} {u : User}

/-- The start nodes of a user open a path. -/
def Opens (r : Realm) (u : User) (path : String) : Prop :=
  Enters path (r.startNodes u).ids r.reserved.root r.reserved.contentBin

instance (path : String) : Decidable (r.Opens u path) :=
  inferInstanceAs (Decidable (Enters ..))

theorem mayEnter_text (p : Path) : r.mayEnter u p.text = .ok (decide (r.Opens u p.text)) :=
  mayEnter_eq p.isBlank_text _

/-- **The check of an entity.**  It never fails; whether access is granted depends on
the path of the entity alone. -/
theorem check_of_entity {node : NodeId} {e : Entity} (hroot : node ≠ r.reserved.root)
    (hbin : node ≠ r.reserved.contentBin) (he : r.entity? node = some e) (required : List String) :
    r.check node u required =
      .ok ⟨if r.Opens u e.path.text ∧ ∀ permission ∈ required, u.Holds e.path.ids permission
        then .granted else .denied, some e⟩ := by
  unfold check
  rw [if_neg hroot, if_neg hbin, he]
  simp [mayEnter_text, Except.bind, judge_eq]

theorem check_of_unknown {node : NodeId} (hroot : node ≠ r.reserved.root)
    (hbin : node ≠ r.reserved.contentBin) (hnone : r.entity? node = none) (required : List String) :
    r.check node u required = .ok ⟨.notFound, none⟩ := by
  unfold check
  rw [if_neg hroot, if_neg hbin, hnone]

/-- A verdict that hangs on a condition is to grant exactly if the condition holds. -/
theorem granted_iff {condition : Prop} [Decidable condition] {entity entity' : Option Entity} :
    (.ok ⟨if condition then .granted else .denied, entity⟩ : Except AccessError Check) =
      .ok ⟨.granted, entity'⟩ ↔ condition ∧ entity = entity' := by
  split <;> simp [*]

/-! ## The system nodes -/

/-- The recycle bin itself lies on no path but its own, so only root access opens it. -/
theorem hasBinAccess_eq : r.hasBinAccess u = r.hasRootAccess u := by
  have hbin : r.Opens u (Path.ofId r.reserved.contentBin).text ↔ r.hasRootAccess u = true := by
    simp [Opens, Enters, hasRootAccess, Path.segments_text]
  have hmayEnter := mayEnter_text (r := r) (u := u) (Path.ofId r.reserved.contentBin)
  rw [Path.text_ofId] at hmayEnter
  unfold hasBinAccess
  rw [hmayEnter, Bool.eq_iff_iff]
  simpa using hbin

/-- **The check of a system node.**  It is no entity; root access decides, and what is
held where the node's id is the whole path. -/
theorem check_of_reserved {node : NodeId}
    (hnode : node = r.reserved.root ∨ node = r.reserved.contentBin) (required : List String) :
    r.check node u required =
      .ok ⟨if r.hasRootAccess u = true ∧ ∀ permission ∈ required, u.Holds [node] permission
        then .granted else .denied, none⟩ := by
  have hjudge := judge_eq u (Path.ofId node) required none (r.hasRootAccess u)
  rw [Path.text_ofId, Path.ids_ofId] at hjudge
  unfold check
  split
  · exact hjudge
  · next hroot => rw [if_pos (hnode.resolve_left hroot), hasBinAccess_eq, hjudge]

end Realm

end Publishing.Access
